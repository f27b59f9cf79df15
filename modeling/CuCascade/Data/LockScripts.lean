import CuCascade.Lib.LockOrder
import CuCascade.Memory.Common

/-!
# The mutexes of the library and who takes them

Each object that several threads use has a mutex of its own. A call of the library
is here what it does with mutexes: which it takes, in which order, under which others
it does so, and where it sleeps. What a call finds decides how often it goes round a
loop and which objects it comes to; these are parameters, so a script stands for all
that the call may do, the ways out by an exception included, since every guard is
released on them.

Converters of users and policies of users are not part of the library. The built-in
converters allocate and free memory, and the policies of the library grow a
reservation, which takes no mutex.
-/

namespace CuCascade.Data

open CuCascade.Memory Locks

inductive Mutex where
  /-- `_wait_mutex` of a `memory_reservation_manager` -/
  | wait (manager : Addr)
  /-- of a `data_repository_manager` -/
  | repositoryManager (manager : Addr)
  /-- of an `idata_repository` -/
  | repository (r : Addr)
  /-- of a `data_batch` -/
  | batch (b : Addr)
  /-- of a `representation_converter_registry` -/
  | registry (registry : Addr)
  /-- of the `stream_ordered_allocation_tracker` of an adaptor -/
  | tracker (mr : Addr)
  /-- `_arbitration_mutex` of the state of a stream -/
  | arbitration (state : Addr)
  /-- of a `fixed_size_host_memory_resource` -/
  | hostResource (mr : Addr)
  /-- of a `notification_channel` -/
  | channel (c : Addr)
  /-- of an `exclusive_stream_pool` -/
  | streamPool (pool : Addr)
deriving DecidableEq, Repr

/-- The order in which the library takes them. -/
@[simp]
def Mutex.rank : Mutex → Nat
  | .wait _ => 0
  | .repositoryManager _ => 1
  | .repository _ => 2
  | .batch _ => 3
  | .registry _ => 4
  | .tracker _ => 5
  | .arbitration _ => 6
  | .hostResource _ => 7
  | .channel _ => 8
  | .streamPool _ => 9

/-- What making and destroying data does with memory. -/
inductive MemoryCall where
  /-- `do_allocate` of an adaptor; a stream that has a state may go over its reservation -/
  | allocate (mr : Addr) (overReservation : Option Addr)
  /-- `do_deallocate` of an adaptor -/
  | deallocate (mr : Addr)
  /-- `allocate_multiple_blocks`, or the return of such blocks -/
  | hostBlocks (mr : Addr)

def MemoryCall.script : MemoryCall → List (Action Mutex)
  | .allocate mr overReservation =>
      alone (.tracker mr) ++ overReservation.toList.flatMap fun state => alone (.arbitration state)
  | .deallocate mr => alone (.tracker mr)
  | .hostBlocks mr => alone (.hostResource mr)

/-- What a reservation that goes takes: its notifier posts, and is destroyed. -/
def notifierScript (channel : Option Addr) : List (Action Mutex) :=
  channel.toList.flatMap fun c => alone (.channel c) ++ alone (.channel c)

/-- What a request takes when it tries a space whose channel has been shut down: the host
resource registers a reservation, a notifier is destroyed, `wait` returns at once. -/
inductive AttemptCall where
  | hostResource (mr : Addr)
  | channel (c : Addr)

def AttemptCall.script : AttemptCall → List (Action Mutex)
  | .hostResource mr => alone (.hostResource mr)
  | .channel c => alone (.channel c)

/-- Turns of a loop that sleeps after each of them but the last. -/
def waitLoop {α : Type} (m : Mutex) (turn : α → List (Action Mutex)) (sleeps : List α) (last : α) :
    List (Action Mutex) :=
  within m (sleeps.flatMap (fun a => turn a ++ [.sleep m]) ++ turn last)

inductive LibraryCall where
  /-- a state operation or a getter of a batch, `set_state_change_cv`, the release of a
  processing handle, a move construction from the batch -/
  | batchCall (b : Addr)
  /-- `set_data` of `b`, or a move assignment from `b`: data is destroyed meanwhile -/
  | replaceData (b : Addr) (destroyed : List MemoryCall)
  | convertTo (b registry : Addr) (converter destroyed : List MemoryCall)
  /-- `add_data_batch` of a repository; a null batch is added too -/
  | addToRepository (r : Addr) (b : Option Addr)
  /-- `pop_data_batch`, `pop_data_batch_by_id` or `get_data_batch_by_id`: each scan comes to
  some batches, and all but the last end with a wait -/
  | search (r : Addr) (scans : List (List Addr)) (last : List Addr)
  /-- `size`, `total_size`, `num_partitions` and the like -/
  | repositoryCall (r : Addr)
  | addNewRepository (manager : Addr)
  /-- `add_data_batch` of a manager, to these repositories -/
  | addDataBatch (manager : Addr) (b : Option Addr) (repositories : List Addr)
  /-- registration and its like -/
  | registryCall (registry : Addr)
  | memoryCall (call : MemoryCall)
  /-- a look at the state of a stream, or its assignment -/
  | trackerCall (mr : Addr)
  /-- `reset_stream_reservation`: the reservation of the stream goes under the mutex -/
  | resetStream (mr : Addr) (channel : Option Addr)
  /-- any other call of a host resource -/
  | hostCall (mr : Addr)
  /-- the destruction of a reservation that is not attached -/
  | releaseReservation (host channel : Option Addr)
  /-- `notification_channel::wait`, with that many sleeps -/
  | channelWait (c : Addr) (sleeps : Nat)
  /-- `notify`, `shutdown` or the end of a notifier -/
  | channelCall (c : Addr)
  /-- `acquire_stream` -/
  | acquireStream (pool : Addr) (sleeps : Nat)
  /-- `release_stream`, `size` -/
  | poolCall (pool : Addr)
  /-- `request_reservation` past its first attempt: that has found no space or only such as
  have been shut down, and a strategy of the library names the same ones again -/
  | requestReservation (manager : Addr) (sleeps : List (List AttemptCall))
      (last : List AttemptCall)

def LibraryCall.script : LibraryCall → List (Action Mutex)
  | .batchCall b => alone (.batch b)
  | .replaceData b destroyed => within (.batch b) (destroyed.flatMap (·.script))
  | .convertTo b registry converter destroyed =>
      within (.batch b)
        (alone (.registry registry) ++
          (converter.flatMap (·.script) ++ destroyed.flatMap (·.script)))
  | .addToRepository r b =>
      within (.repository r) (b.toList.flatMap fun b => alone (.batch b))
  | .search r scans last =>
      waitLoop (.repository r) (fun scan => scan.flatMap fun b => alone (.batch b)) scans last
  | .repositoryCall r => alone (.repository r)
  | .addNewRepository manager => alone (.repositoryManager manager)
  | .addDataBatch manager b repositories =>
      within (.repositoryManager manager)
        (repositories.flatMap fun r =>
          within (.repository r) (b.toList.flatMap fun b => alone (.batch b)))
  | .registryCall registry => alone (.registry registry)
  | .memoryCall call => call.script
  | .trackerCall mr => alone (.tracker mr)
  | .resetStream mr channel => within (.tracker mr) (notifierScript channel)
  | .hostCall mr => alone (.hostResource mr)
  | .releaseReservation host channel =>
      (host.toList.flatMap fun mr => alone (.hostResource mr)) ++ notifierScript channel
  | .channelWait c sleeps => waitLoop (.channel c) (fun _ => []) (List.replicate sleeps ()) ()
  | .channelCall c => alone (.channel c)
  | .acquireStream pool sleeps =>
      waitLoop (.streamPool pool) (fun _ => []) (List.replicate sleeps ()) ()
  | .poolCall pool => alone (.streamPool pool)
  | .requestReservation manager sleeps last =>
      waitLoop (.wait manager) (fun attempts => attempts.flatMap (·.script)) sleeps last

/-- The scripts of the library. -/
def IsCall (script : List (Action Mutex)) : Prop := ∃ call : LibraryCall, call.script = script

end CuCascade.Data
